import MmtkOpenJDK.Slots.SlotAccess

/-! The binding's view of HotSpot's objects and klasses. Objects are bytes in memory;
the metadata of klasses is read through typed loads. -/

namespace MmtkOpenJDK.ObjectModel

open MmtkOpenJDK.Heap

inductive KlassID where
  | instanceKlass
  | instanceRef
  | instanceMirror
  | instanceClassLoader
  | typeArray
  | objArray
  deriving DecidableEq

inductive BasicType where
  | boolean
  | char
  | float
  | double
  | byte
  | short
  | int
  | long
  | object
  | array
  | void
  | address
  | narrowOop
  | metadata
  | narrowKlass
  | conflict
  | illegal
  deriving DecidableEq

inductive ReferenceType where
  | none
  | other
  | soft
  | weak
  | final
  | phantom
  deriving DecidableEq

structure OopMapBlock where
  offset : BitVec 32
  count : BitVec 32
  deriving DecidableEq

/-- The fields of `Klass` that are read here. -/
structure Klass where
  layoutHelper : BitVec 32
  id : KlassID
  vtableLen : BitVec 32

structure InstanceKlass extends Klass where
  nonstaticOopMapSize : BitVec 32
  itableLen : BitVec 32
  referenceType : ReferenceType

/-- The memory, the metadata at its addresses, and what the binding asks the VM for.
A klass that is not an `InstanceKlass` has arbitrary values in the fields it lacks. -/
structure VM where
  memory : Slots.Memory
  klassAt : Address → InstanceKlass
  blockAt : Address → OopMapBlock
  compressedKlassBase : Address
  compressedKlassShift : Nat
  sizeOfInstanceKlass : Nat
  offsetOfStaticFields : BitVec 32
  staticOopFieldCountOffset : BitVec 32
  referentOffset : BitVec 32
  discoveredOffset : BitVec 32
  getObjectSize : Address → BitVec 64
  noReferenceTypes : Bool

def bytesInInt : BitVec 64 := 4
def bytesInLong : BitVec 64 := 8
def bytesInWord : BitVec 64 := 8

/-- An `i32` as a `usize` or an `isize`. -/
def asUsize (value : BitVec 32) : BitVec 64 := value.signExtend 64

namespace Klass

def layoutHelperNeedsSlowPath (lh : BitVec 32) : Bool := lh &&& 1 != 0

def layoutHelperLog2ElementSize (lh : BitVec 32) : BitVec 32 := lh.sshiftRight 0 &&& 63

def layoutHelperHeaderSize (lh : BitVec 32) : BitVec 32 := lh.sshiftRight 16 &&& 255

end Klass

section Objects

variable (vm : VM) (compressed : Bool) (oop : Address)

def loadI32 (address : Address) : BitVec 32 := BitVec.ofNat 32 (vm.memory.read address 4)

/-- The offset of the klass pointer behind the mark word. -/
def klassOffset : Address := 8

/-- Where the klass of the object is. -/
def OopDesc.klassAddress : Address :=
  if compressed then
    let narrowKlass := BitVec.ofNat 64 (vm.memory.read (oop + klassOffset) 4)
    vm.compressedKlassBase + narrowKlass <<< vm.compressedKlassShift
  else BitVec.ofNat 64 (vm.memory.read (oop + klassOffset) 8)

def OopDesc.klass : InstanceKlass := vm.klassAt (klassAddress vm compressed oop)

def OopDesc.getFieldAddress (offset : BitVec 32) : Address := oop + asUsize offset

namespace ArrayOopDesc

def lengthOffset : BitVec 64 := if compressed then klassOffset + 4 else klassOffset + 8

def elementTypeShouldBeAligned (ty : BasicType) : Bool := ty == .double || ty == .long

/-- The size of the header in words. -/
def headerSize (ty : BasicType) : BitVec 64 :=
  let typesizeInBytes := alignUp (lengthOffset compressed + bytesInInt) bytesInLong
  if elementTypeShouldBeAligned ty then alignUp (typesizeInBytes / bytesInWord) bytesInLong
  else typesizeInBytes / bytesInWord

def length : BitVec 32 := loadI32 vm (oop + lengthOffset compressed)

def base (ty : BasicType) : Address := oop + headerSize compressed ty * bytesInWord

/-- A Rust slice over the elements: where it starts and how many there are. -/
def data (ty : BasicType) : Address × Nat := (base compressed oop ty, (asUsize (length vm compressed oop)).toNat)

end ArrayOopDesc

def OopDesc.size : BitVec 64 :=
  let lh := (OopDesc.klass vm compressed oop).layoutHelper
  if 0 < lh.toInt then
    if Klass.layoutHelperNeedsSlowPath lh then vm.getObjectSize oop else asUsize lh
  else if lh.toInt < 0 then
    let sizeInBytes := asUsize (ArrayOopDesc.length vm compressed oop) <<< (Klass.layoutHelperLog2ElementSize lh).toNat
    let sizeInBytes := sizeInBytes + asUsize (Klass.layoutHelperHeaderSize lh)
    (sizeInBytes + 0b111) &&& ~~~0b111
  else vm.getObjectSize oop

end Objects

section Klasses

variable (vm : VM) (klass : Address)

namespace InstanceKlass

def headerSize : Nat := vm.sizeOfInstanceKlass / 8

def startOfVtable : Address := klass + BitVec.ofNat 64 (headerSize vm * 8)

/-- Pointers to words are advanced by words. -/
def startOfItable : Address := startOfVtable vm klass + asUsize (vm.klassAt klass).vtableLen * 8

def nonstaticOopMapCount : Nat :=
  let oopMapBlockSizeUp := alignUp 8 bytesInWord
  (asUsize (vm.klassAt klass).nonstaticOopMapSize / oopMapBlockSizeUp >>> 3).toNat

def nonstaticOopMaps : List OopMapBlock :=
  let start := startOfItable vm klass + asUsize (vm.klassAt klass).itableLen * 8
  (List.range (nonstaticOopMapCount vm klass)).map fun index => vm.blockAt (start + BitVec.ofNat 64 (index * 8))

end InstanceKlass

end Klasses

section Fields

variable (vm : VM) (oop : Address)

def InstanceMirrorKlass.startOfStaticFields : Address := oop + asUsize vm.offsetOfStaticFields

def InstanceMirrorKlass.staticOopFieldCount : Nat :=
  (asUsize (loadI32 vm (OopDesc.getFieldAddress oop vm.staticOopFieldCountOffset))).toNat

def InstanceRefKlass.referentAddress : Address := OopDesc.getFieldAddress oop vm.referentOffset

def InstanceRefKlass.discoveredAddress : Address := OopDesc.getFieldAddress oop vm.discoveredOffset

end Fields

end MmtkOpenJDK.ObjectModel
