import Mathlib.Data.BitVec
import MmtkOpenJDK.Foundation.ReprC

/-! The start-up check that the binding's klass structs are laid out as the VM's are. It
compares one checksum of seven sizes. -/

namespace MmtkOpenJDK.ObjectModel

open MmtkOpenJDK.Foundation

/-- The sizes that enter the checksum. -/
structure KlassSizes where
  klass : BitVec 64
  instanceKlass : BitVec 64
  instanceRefKlass : BitVec 64
  instanceMirrorKlass : BitVec 64
  instanceClassLoaderKlass : BitVec 64
  typeArrayKlass : BitVec 64
  objArrayKlass : BitVec 64
  deriving DecidableEq

namespace KlassSizes

/-- Both sides combine their sizes in the same way. -/
def checksum (sizes : KlassSizes) : BitVec 64 :=
  sizes.klass
    ^^^ sizes.instanceKlass
    ^^^ sizes.instanceRefKlass
    ^^^ sizes.instanceMirrorKlass
    ^^^ sizes.instanceClassLoaderKlass
    ^^^ sizes.typeArrayKlass
    ^^^ sizes.objArrayKlass

/-- The subclasses of `InstanceKlass` add nothing to it. -/
structure SubclassesFollow (sizes : KlassSizes) : Prop where
  ref : sizes.instanceRefKlass = sizes.instanceKlass
  mirror : sizes.instanceMirrorKlass = sizes.instanceKlass
  classLoader : sizes.instanceClassLoaderKlass = sizes.instanceKlass

end KlassSizes

def computeKlassMemLayoutChecksum (vm : KlassSizes) : BitVec 64 := vm.checksum

/-- The error of the failed assertion holds the two checksums. -/
def validateMemoryLayouts (binding vm : KlassSizes) : Except (BitVec 64 × BitVec 64) Unit :=
  let vmChecksum := computeKlassMemLayoutChecksum vm
  let bindingChecksum := binding.checksum
  if vmChecksum = bindingChecksum then .ok () else .error (vmChecksum, bindingChecksum)

section Binding

open CType (pointer long int short byte)

variable (debugAssertions : Bool)

/-- A field that only debug builds have. -/
def debugField (field : String × CType) : List (String × CType) := if debugAssertions then [field] else []

def klassFields : List (String × CType) :=
  [("vptr", pointer)] ++ debugField debugAssertions ("valid", int) ++
    [("layout_helper", int), ("id", int), ("super_check_offset", int), ("name", pointer),
      ("secondary_super_cache", pointer), ("secondary_supers", pointer), ("primary_supers", pointer.array 8),
      ("java_mirror", pointer), ("super_", pointer), ("subklass", pointer), ("next_sibling", pointer),
      ("next_link", pointer), ("class_loader_data", pointer), ("modifier_flags", int), ("access_flags", int),
      ("trace_id", long), ("last_biased_lock_bulk_revocation_time", long), ("prototype_header", pointer),
      ("biased_lock_revocation_count", int), ("vtable_len", int), ("shared_class_path_index", short)]

def klassStruct : CType := .struct ((klassFields debugAssertions).map Prod.snd)

def instanceKlassFields : List (String × CType) :=
  [("klass", klassStruct debugAssertions), ("annotations", pointer), ("package_entry", pointer),
    ("array_klasses", pointer), ("constants", pointer), ("inner_classes", pointer), ("nest_members", pointer),
    ("nest_host_index", short), ("nest_host", pointer), ("source_debug_extension", pointer), ("array_name", pointer),
    ("nonstatic_field_size", int), ("static_field_size", int), ("generic_signature_index", short),
    ("source_file_name_index", short), ("static_oop_field_count", short), ("java_fields_count", short),
    ("nonstatic_oop_map_size", int), ("itable_len", int), ("is_marked_dependent", byte), ("is_being_redefined", byte),
    ("misc_flags", short), ("minor_version", short), ("major_version", short), ("init_thread", pointer),
    ("oop_map_cache", pointer), ("jni_ids", pointer), ("methods_jmethod_ids", pointer), ("dep_context", long),
    ("osr_nmethods_head", pointer), ("breakpoints", pointer), ("previous_versions", pointer),
    ("cached_class_file", pointer), ("idnum_allocated_count", short), ("init_state", byte), ("reference_type", byte),
    ("this_class_index", short), ("jvmti_cached_class_field_map", pointer)] ++
    debugField debugAssertions ("verify_count", int) ++
    [("methods", pointer), ("default_methods", pointer), ("local_interfaces", pointer),
      ("transitive_interfaces", pointer), ("method_ordering", pointer), ("default_vtable_indices", pointer),
      ("fields", pointer)]

def instanceKlassStruct : CType := .struct ((instanceKlassFields debugAssertions).map Prod.snd)

def arrayKlassStruct : CType := .struct [klassStruct debugAssertions, int, pointer, pointer]

def objArrayKlassStruct : CType := .struct [arrayKlassStruct debugAssertions, pointer, pointer]

def typeArrayKlassStruct : CType := .struct [arrayKlassStruct debugAssertions, int]

def instanceRefKlassStruct : CType := .struct [instanceKlassStruct debugAssertions]

def instanceMirrorKlassStruct : CType := .struct [instanceKlassStruct debugAssertions]

def instanceClassLoaderKlassStruct : CType := .struct [instanceKlassStruct debugAssertions]

/-- What `mem::size_of` gives for the seven structs. -/
def bindingSizes : KlassSizes where
  klass := BitVec.ofNat 64 (klassStruct debugAssertions).size
  instanceKlass := BitVec.ofNat 64 (instanceKlassStruct debugAssertions).size
  instanceRefKlass := BitVec.ofNat 64 (instanceRefKlassStruct debugAssertions).size
  instanceMirrorKlass := BitVec.ofNat 64 (instanceMirrorKlassStruct debugAssertions).size
  instanceClassLoaderKlass := BitVec.ofNat 64 (instanceClassLoaderKlassStruct debugAssertions).size
  typeArrayKlass := BitVec.ofNat 64 (typeArrayKlassStruct debugAssertions).size
  objArrayKlass := BitVec.ofNat 64 (objArrayKlassStruct debugAssertions).size

theorem bindingSizes_subclassesFollow : (bindingSizes debugAssertions).SubclassesFollow := by
  have wraps : CType.struct [instanceKlassStruct debugAssertions] = instanceKlassStruct debugAssertions :=
    CType.struct_single _
  refine ⟨?_, ?_, ?_⟩
  · rw [bindingSizes, instanceRefKlassStruct, wraps]
  · rw [bindingSizes, instanceMirrorKlassStruct, wraps]
  · rw [bindingSizes, instanceClassLoaderKlassStruct, wraps]

end Binding

/-- The structs whose sizes can change by themselves. -/
inductive KlassStruct where
  | klass
  | instanceKlass
  | typeArrayKlass
  | objArrayKlass
  deriving DecidableEq

def KlassSizes.sizeOf (sizes : KlassSizes) : KlassStruct → BitVec 64
  | .klass => sizes.klass
  | .instanceKlass => sizes.instanceKlass
  | .typeArrayKlass => sizes.typeArrayKlass
  | .objArrayKlass => sizes.objArrayKlass

/-- The size of the given struct differs on the two sides, and no other one does. -/
def DriftedOnly (binding vm : KlassSizes) (drifted : KlassStruct) : Prop :=
  ∀ struct, vm.sizeOf struct ≠ binding.sizeOf struct ↔ struct = drifted

section Detection

variable {sizes binding vm : KlassSizes} {drifted struct : KlassStruct}

theorem xor_cancel (value twice : BitVec 64) : value ^^^ twice ^^^ twice = value := by
  rw [BitVec.xor_assoc, BitVec.xor_self, BitVec.xor_zero]

/-- The four copies of the size of `InstanceKlass` cancel out. -/
theorem checksum_of_subclassesFollow (follow : sizes.SubclassesFollow) :
    sizes.checksum = sizes.klass ^^^ sizes.typeArrayKlass ^^^ sizes.objArrayKlass := by
  rw [KlassSizes.checksum, follow.ref, follow.mirror, follow.classLoader, xor_cancel, xor_cancel]

theorem DriftedOnly.same (drift : DriftedOnly binding vm drifted) (other : struct ≠ drifted) :
    vm.sizeOf struct = binding.sizeOf struct := by
  by_contra different
  exact other ((drift struct).mp different)

theorem DriftedOnly.different (drift : DriftedOnly binding vm drifted) :
    vm.sizeOf drifted ≠ binding.sizeOf drifted :=
  (drift drifted).mpr rfl

theorem validateMemoryLayouts_fails_iff :
    (∃ checksums, validateMemoryLayouts binding vm = .error checksums) ↔ vm.checksum ≠ binding.checksum := by
  unfold validateMemoryLayouts computeKlassMemLayoutChecksum
  by_cases same : vm.checksum = binding.checksum
  · simp [same]
  · simp [same]

end Detection

/-- A drift of one struct fails the check unless the struct is `InstanceKlass`. -/
theorem layout_drift_detected_iff (binding vm : KlassSizes) (drifted : KlassStruct)
    (bindingFollows : binding.SubclassesFollow) (vmFollows : vm.SubclassesFollow)
    (drift : DriftedOnly binding vm drifted) :
    (∃ checksums, validateMemoryLayouts binding vm = .error checksums) ↔ drifted ≠ .instanceKlass := by
  rw [validateMemoryLayouts_fails_iff, checksum_of_subclassesFollow bindingFollows,
    checksum_of_subclassesFollow vmFollows]
  have different := drift.different
  have klass : .klass ≠ drifted → vm.klass = binding.klass := drift.same
  have typeArray : .typeArrayKlass ≠ drifted → vm.typeArrayKlass = binding.typeArrayKlass := drift.same
  have objArray : .objArrayKlass ≠ drifted → vm.objArrayKlass = binding.objArrayKlass := drift.same
  cases drifted with
  | klass =>
    rw [typeArray (by decide), objArray (by decide), Ne, BitVec.xor_left_inj, BitVec.xor_left_inj]
    exact iff_of_true different (by decide)
  | instanceKlass =>
    rw [klass (by decide), typeArray (by decide), objArray (by decide)]
    exact iff_of_false (fun checksum => checksum rfl) (fun other => other rfl)
  | typeArrayKlass =>
    rw [klass (by decide), objArray (by decide), Ne, BitVec.xor_left_inj, BitVec.xor_right_inj]
    exact iff_of_true different (by decide)
  | objArrayKlass =>
    rw [klass (by decide), typeArray (by decide), Ne, BitVec.xor_right_inj]
    exact iff_of_true different (by decide)

/-- The sizes in a release build. -/
theorem bindingSizes_release : bindingSizes false = ⟨208, 464, 464, 464, 464, 240, 248⟩ := by decide +kernel

/-- A VM whose `TypeArrayKlass` has grown by a word. -/
def grownTypeArray : KlassSizes := ⟨208, 464, 464, 464, 464, 248, 248⟩

theorem type_array_drift_detected :
    ∃ checksums, validateMemoryLayouts (bindingSizes false) grownTypeArray = .error checksums := by
  have drift : DriftedOnly (bindingSizes false) grownTypeArray .typeArrayKlass := by
    rw [bindingSizes_release]
    intro struct
    cases struct <;> decide
  exact (layout_drift_detected_iff (bindingSizes false) grownTypeArray .typeArrayKlass
    (bindingSizes_subclassesFollow false) ⟨rfl, rfl, rfl⟩ drift).mpr (by decide)

/-- A VM whose `InstanceKlass` has grown by a word, and its subclasses with it. -/
def grownInstance : KlassSizes := ⟨208, 472, 472, 472, 472, 240, 248⟩

theorem instance_drift_undetected :
    grownInstance.SubclassesFollow ∧ (bindingSizes false).SubclassesFollow ∧
      DriftedOnly (bindingSizes false) grownInstance .instanceKlass ∧
      validateMemoryLayouts (bindingSizes false) grownInstance = .ok () := by
  refine ⟨⟨rfl, rfl, rfl⟩, bindingSizes_subclassesFollow false, ?_, ?_⟩
  · rw [bindingSizes_release]
    intro struct
    cases struct <;> decide
  · rw [bindingSizes_release]
    decide

end MmtkOpenJDK.ObjectModel
