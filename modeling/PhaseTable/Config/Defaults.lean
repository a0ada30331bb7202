/-
# PhaseTable.Config.Defaults -- the built-in configuration

It takes the place of a configuration that is missing or of no use, and is written as
a checked configuration is: number and name of the phase, its profile as a filter,
two switches and the number of its objects.
-/
import PhaseTable.Config

namespace PhaseTable

set_option autoImplicit false

/-- The actions that are offered when a configuration names none. -/
def defaultActions : List String :=
  ["select", "show_only", "visualize"]

namespace Column

def ofPhase (key label : String) (valueType : ValueType) (attr : String) (order : Int32)
    (filterOps : List FilterOp) : Column :=
  { blank with
    key, label, valueType, attr, order
    objectType := some .phase
    filterOps := filterOps.map FilterOp.name }

/-- A switch whose target is its key. -/
def switch (key label : String) (order : Int32) : Column :=
  { blank with
    key, label, order
    valueType := .boolean
    editable := true
    targetAttr := key
    filterOps := [FilterOp.equals.name] }

end Column

def Config.default : Config where
  version := supportedVersion
  phaseKey := "number"
  actions := defaultActions
  columns := [
    .ofPhase "phase_number" "Phase" .integer "number" 10 [.equals, .in_, .range],
    .ofPhase "phase_name" "Name" .string "name" 20 [.equals, .contains, .in_],
    { Column.blank with
      key := "profile"
      label := "Profile"
      editable := true
      targetType := some .part
      targetAttr := "profile"
      order := 25
      filterOps := [FilterOp.equals, .contains, .in_].map FilterOp.name },
    .switch excludeGratings "Exclude Gratings" 26,
    .switch excludeExisting "Exclude Existing" 27,
    { Column.ofPhase "object_count" "Count" .integer "number" 30 [.equals, .range] with
      aggregate := .count }]

end PhaseTable
