import Mathlib.Logic.Function.Basic

/-! Options that one source after the other may set. A later setting overwrites an
earlier one, so the value in the end is that of the last setting of the option. -/

namespace MmtkOpenJDK.Foundation

/-- The value of the last source that has one. -/
def highest {α : Type} : List (Option α) → Option α
  | [] => none
  | source :: higher => (highest higher).or source

theorem highest_append {α : Type} (lower higher : List (Option α)) :
    highest (lower ++ higher) = (highest higher).or (highest lower) := by
  induction lower with
  | nil => simp [highest]
  | cons source rest ih => rw [List.cons_append, highest, highest, ih, Option.or_assoc]

variable {Key : Type} [DecidableEq Key] {Value : Key → Type}

/-- A value for one of the options. -/
abbrev Setting (Value : Key → Type) := (key : Key) × Value key

def overwrite (options : (key : Key) → Value key) (setting : Setting Value) : (key : Key) → Value key :=
  Function.update options setting.1 setting.2

/-- The value of the option in a setting, if the setting is about it. -/
def valueIn (key : Key) (setting : Setting Value) : Option (Value key) :=
  if same : setting.1 = key then some (same ▸ setting.2) else none

/-- The value that a list of settings leaves in an option. -/
def lastValue (settings : List (Setting Value)) (key : Key) : Option (Value key) :=
  highest (settings.map (valueIn key))

theorem lastValue_append (first later : List (Setting Value)) (key : Key) :
    lastValue (first ++ later) key = (lastValue later key).or (lastValue first key) := by
  rw [lastValue, List.map_append, highest_append]
  rfl

theorem overwrite_apply (options : (key : Key) → Value key) (setting : Setting Value) (key : Key) :
    overwrite options setting key = (valueIn key setting).getD (options key) := by
  obtain ⟨changed, value⟩ := setting
  by_cases same : changed = key
  · subst same
    simp [overwrite, valueIn]
  · simp [overwrite, valueIn, same, Function.update_of_ne (Ne.symm same)]

theorem foldl_overwrite (settings : List (Setting Value)) (options : (key : Key) → Value key) (key : Key) :
    settings.foldl overwrite options key = (lastValue settings key).getD (options key) := by
  induction settings generalizing options with
  | nil => rfl
  | cons setting rest ih =>
    rw [List.foldl_cons, ih, overwrite_apply, lastValue, lastValue, List.map_cons, highest]
    cases highest (rest.map (valueIn key)) with
    | none => rfl
    | some value => rfl

end MmtkOpenJDK.Foundation
