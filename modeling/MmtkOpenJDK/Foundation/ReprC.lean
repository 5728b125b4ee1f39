import Mathlib.Tactic.Common

/-! Sizes of data in the C representation: fields in the order of their declaration,
each at the next aligned offset. -/

namespace MmtkOpenJDK.Foundation

/-- The least multiple of the alignment that is not below the offset. -/
def roundUp (offset align : Nat) : Nat := (offset + (align - 1)) / align * align

theorem dvd_roundUp (offset align : Nat) : align ∣ roundUp offset align := Nat.dvd_mul_left align _

theorem roundUp_of_dvd {offset align : Nat} (positive : 0 < align) (aligned : align ∣ offset) :
    roundUp offset align = offset := by
  obtain ⟨count, rfl⟩ := aligned
  have whole : (align * count + (align - 1)) / align = count := by
    rw [Nat.mul_add_div positive, Nat.div_eq_of_lt (by omega), Nat.add_zero]
  rw [roundUp, whole, Nat.mul_comm]

theorem le_roundUp {align : Nat} (positive : 0 < align) (offset : Nat) : offset ≤ roundUp offset align := by
  have division := Nat.div_add_mod (offset + (align - 1)) align
  have remainder := Nat.mod_lt (offset + (align - 1)) positive
  rw [roundUp, Nat.mul_comm]
  omega

/-- A type with the size and the alignment of its values. Arrays of it have no gaps. -/
@[ext] structure CType where
  size : Nat
  align : Nat
  align_pos : 0 < align
  align_dvd : align ∣ size

namespace CType

/-- A number or a pointer, aligned to its own size. -/
def scalar (size : Nat) (positive : 0 < size) : CType := ⟨size, size, positive, Nat.dvd_refl size⟩

/-! The scalars of a 64-bit target. -/

def pointer : CType := .scalar 8 (by decide)
def long : CType := .scalar 8 (by decide)
def int : CType := .scalar 4 (by decide)
def short : CType := .scalar 2 (by decide)
def byte : CType := .scalar 1 (by decide)

def array (element : CType) (count : Nat) : CType :=
  ⟨element.size * count, element.align, element.align_pos, Nat.dvd_mul_right_of_dvd element.align_dvd count⟩

/-- The largest alignment of the fields. -/
def structAlign : List CType → Nat
  | [] => 1
  | field :: fields => max field.align (structAlign fields)

theorem structAlign_pos : (fields : List CType) → 0 < structAlign fields
  | [] => Nat.one_pos
  | field :: _ => Nat.lt_of_lt_of_le field.align_pos (Nat.le_max_left _ _)

/-- The offset behind the last field. -/
def fieldsEnd (fields : List CType) : Nat :=
  fields.foldl (fun offset field => roundUp offset field.align + field.size) 0

def struct (fields : List CType) : CType where
  size := roundUp (fieldsEnd fields) (structAlign fields)
  align := structAlign fields
  align_pos := structAlign_pos fields
  align_dvd := dvd_roundUp _ _

/-- The offset of a field in a struct. -/
def offsetOf (fields : List CType) (index : Nat) : Nat :=
  roundUp (fieldsEnd (fields.take index)) ((fields[index]?).elim 1 CType.align)

section Offsets

variable {fields : List CType} {field : CType} {index later : Nat}

theorem fieldsEnd_append (field : CType) (fields : List CType) :
    fieldsEnd (fields ++ [field]) = roundUp (fieldsEnd fields) field.align + field.size := by
  simp [fieldsEnd]

theorem fieldsEnd_take_succ (found : fields[index]? = some field) :
    fieldsEnd (fields.take (index + 1)) = offsetOf fields index + field.size := by
  rw [List.take_add_one, found, offsetOf, found]
  exact fieldsEnd_append field (fields.take index)

theorem fieldsEnd_take_le (before : index ≤ later) :
    fieldsEnd (fields.take index) ≤ fieldsEnd (fields.take later) := by
  induction before with
  | refl => exact Nat.le_refl _
  | @step later _ ih =>
    refine Nat.le_trans ih ?_
    cases found : fields[later]? with
    | none =>
      have same : fields.take (later + 1) = fields.take later := by
        rw [List.take_add_one, found, Option.toList_none, List.append_nil]
      exact Nat.le_of_eq (congrArg fieldsEnd same.symm)
    | some field =>
      rw [fieldsEnd_take_succ found, offsetOf, found]
      exact Nat.le_trans (le_roundUp field.align_pos _) (Nat.le_add_right _ _)

/-- A field ends before the later ones start. -/
theorem offsetOf_add_size_le (found : fields[index]? = some field) (before : index < later) :
    offsetOf fields index + field.size ≤ offsetOf fields later := by
  rw [← fieldsEnd_take_succ found]
  refine Nat.le_trans (fieldsEnd_take_le before) (le_roundUp ?_ _)
  cases fields[later]? with
  | none => exact Nat.one_pos
  | some next => exact next.align_pos

/-- A field is inside its struct. -/
theorem offsetOf_add_size_le_struct (found : fields[index]? = some field) :
    offsetOf fields index + field.size ≤ (struct fields).size := by
  obtain ⟨inside, _⟩ := List.getElem?_eq_some_iff.mp found
  rw [← fieldsEnd_take_succ found]
  have whole : fields.take fields.length = fields := List.take_length
  calc fieldsEnd (fields.take (index + 1))
      ≤ fieldsEnd (fields.take fields.length) := fieldsEnd_take_le inside
    _ = fieldsEnd fields := by rw [whole]
    _ ≤ (struct fields).size := le_roundUp (structAlign_pos fields) _

end Offsets

/-- A struct that only wraps another type is laid out like it. -/
theorem struct_single (field : CType) : struct [field] = field := by
  have align : structAlign [field] = field.align := Nat.max_eq_left field.align_pos
  have first : fieldsEnd [field] = field.size := by simp [fieldsEnd, roundUp_of_dvd field.align_pos]
  apply CType.ext
  · change roundUp (fieldsEnd [field]) (structAlign [field]) = field.size
    rw [align, first, roundUp_of_dvd field.align_pos field.align_dvd]
  · exact align

end CType

end MmtkOpenJDK.Foundation
