/-
# PhaseTable.Proofs.Setting -- the names of variants are read back

Each variant of a setting is the one that its own name names, and no name is blank, so a setting
that is written by the name of a variant is neither unset nor unrecognized.
-/
import PhaseTable.Config

namespace PhaseTable

set_option autoImplicit false

@[simp] theorem ValueType.parse_name (t : ValueType) : parse t.name = some t := by
  cases t <;> decide

@[simp] theorem ValueType.blank_name (t : ValueType) : Text.blank t.name = false := by
  cases t <;> decide

@[simp] theorem ObjectType.parse_name (t : ObjectType) : parse t.name = some t := by
  cases t <;> decide

@[simp] theorem ObjectType.blank_name (t : ObjectType) : Text.blank t.name = false := by
  cases t <;> decide

@[simp] theorem Aggregate.parse_name (a : Aggregate) : parse a.name = some a := by
  cases a <;> decide

@[simp] theorem Aggregate.blank_name (a : Aggregate) : Text.blank a.name = false := by
  cases a <;> decide

namespace ColumnText

variable {α : Type} {parse : String → Option α} {name : α → String}

/-- A setting that is written by name, if at all, is what it was. -/
theorem named?_map (parsed : ∀ a, parse (name a) = some a)
    (present : ∀ a, Text.blank (name a) = false) (value? : Option α) :
    named? parse (value?.map name) = value? := by
  cases value? with
  | none => rfl
  | some a => simp [named?, parsed, present]

/-- A setting that is written by name, if at all, is recognized. -/
theorem unnamed?_map (setting : NamedSetting) (parsed : ∀ a, parse (name a) = some a)
    (value? : Option α) : unnamed? setting parse (value?.map name) = none := by
  cases value? with
  | none => rfl
  | some a => simp [unnamed?, parsed]

end ColumnText

end PhaseTable
